import Mathlib
import ControlPoint.Language.Literal
import ControlPoint.Proofs.Language.Places
import ControlPoint.Proofs.Template.Lines

/-!
The lines on which a language quotes texts: declarations of constants, titles of regions and the
header of a class.
-/

namespace ControlPoint.Language

open Template Text

/-- The line that declares a constant. -/
def constantLine (l : Language) (scope name literal comment : String) : String :=
  match l with
  | csharp =>
    scope ++ " const string " ++ name ++ " = " ++ literal ++ ";" ++
      if comment = "" then "" else " // " ++ comment
  | visualBasic =>
    scope ++ " Const " ++ name ++ " As String = " ++ literal ++
      if comment = "" then "" else " ' " ++ comment

/-- The line that starts a region. -/
def titleLine : Language → String → String
  | csharp, title => "#region " ++ title
  | visualBasic, title => "#Region \"" ++ title ++ "\""

/-- The line that ends a region. -/
def endLine : Language → String
  | csharp => "#endregion"
  | visualBasic => "#End Region"

/-- A region: its title, what stands in it and its end, with an empty line between them. -/
def regionText (l : Language) (title body : String) : String :=
  String.intercalate "\n" [l.titleLine title, "", body, "", l.endLine]

/-- The line of a class that says where it comes from. -/
def headerLine : Language → String → String
  | csharp, header => "//     " ++ header
  | visualBasic, header => "'     " ++ header

/-- The characters that end a line although they stand in a literal. -/
def endsLiteral : Language → Char → Bool
  | csharp, c => c == '\u2028' || c == '\u2029'
  | visualBasic, c => isLineEnd c

theorem isLineEnd_hexDigits4 (n : Nat) : ∀ c ∈ hexDigits4 n, isLineEnd c = false := by
  have hdigit : ∀ d < 16, isLineEnd (Nat.digitChar d) = false := by decide
  simp [hexDigits4, hdigit, Nat.mod_lt]

theorem ne_of_isControl {c sep : Char} (hcontrol : isControl c ≠ isControl sep) : c ≠ sep := by
  rintro rfl
  exact hcontrol rfl

theorem isLineEnd_escapedChar (c : Char) :
    (∀ written ∈ escapedChar c, isLineEnd written = false) ↔ endsLiteral .csharp c = false := by
  unfold escapedChar
  split_ifs with hquote hbackslash hfeed hreturn htab hnull hcontrol
  · simp [eq_of_beq hquote, endsLiteral, isLineEnd]
  · simp [eq_of_beq hbackslash, endsLiteral, isLineEnd]
  · simp [eq_of_beq hfeed, endsLiteral, isLineEnd]
  · simp [eq_of_beq hreturn, endsLiteral, isLineEnd]
  · simp [eq_of_beq htab, endsLiteral, isLineEnd]
  · simp [eq_of_beq hnull, endsLiteral, isLineEnd]
  · have hline : c ≠ '\u2028' := ne_of_isControl (by rw [hcontrol]; decide)
    have hparagraph : c ≠ '\u2029' := ne_of_isControl (by rw [hcontrol]; decide)
    have hmarks : isLineEnd '\\' = false ∧ isLineEnd 'u' = false := by decide
    simpa [endsLiteral, hline, hparagraph, hmarks] using isLineEnd_hexDigits4 c.toNat
  · rw [Bool.not_eq_true] at hcontrol
    have hnext : c ≠ '\u0085' := ne_of_isControl (by rw [hcontrol]; decide)
    rw [beq_iff_eq] at hfeed hreturn
    simp [isLineEnd, endsLiteral, hfeed, hreturn, hnext]

theorem isLineEnd_doubledChar (c : Char) :
    (∀ written ∈ doubledChar c, isLineEnd written = false) ↔
      endsLiteral .visualBasic c = false := by
  unfold doubledChar
  split
  · rename_i hquote
    simp [eq_of_beq hquote, endsLiteral, isLineEnd]
  · simp [endsLiteral]

theorem isOneLine_literal (l : Language) (value : String) :
    IsOneLine (l.literal value) ↔ ∀ c ∈ value.toList, l.endsLiteral c = false := by
  have hquote : isLineEnd '"' = false := by decide
  have hchar (c : Char) : (∀ written ∈ l.literalChar c, isLineEnd written = false) ↔
      l.endsLiteral c = false := by
    cases l with
    | csharp => exact isLineEnd_escapedChar c
    | visualBasic => exact isLineEnd_doubledChar c
  rw [IsOneLine, literal, String.toList_ofList, List.forall_mem_cons, List.forall_mem_append,
    List.forall_mem_singleton, List.forall_mem_flatMap]
  simp only [hquote, true_and, and_true, hchar]

theorem fill_constant (l : Language) (scope name literal comment : String) :
    l.fill .constant
      [("scope", scope), ("name", name), ("literal", literal), ("comment", comment)] =
        l.constantLine scope name literal comment := by
  apply fill_of_render
  by_cases hcomment : comment = "" <;> cases l <;>
    simp [template, csharpTemplate, visualBasicTemplate, Template.render, Part.render, Piece.render,
      renderPieces, Fields.value?, Fields.holds, Value.holds, Value.print, constantLine, hcomment,
      bind, Except.bind, pure, Except.pure, String.append_assoc]

theorem fill_region (l : Language) (title body : String) :
    l.fill .region [("name", title), ("body", body)] = l.regionText title body := by
  apply fill_of_render
  cases l <;>
    simp [template, csharpTemplate, visualBasicTemplate, ofLines, Template.render, Part.render,
      Piece.render, Fields.value?, Value.print, regionText, titleLine, endLine,
      String.intercalate_cons_cons, bind, Except.bind, pure, Except.pure, String.append_assoc]
  exact String.append_assoc.symm

theorem isOneLine_visibilityWord (l : Language) (v : Visibility) :
    IsOneLine (l.visibilityWord v) := by
  cases l <;> cases v <;> simp [visibilityWord, IsOneLine, isLineEnd]

/-- Only what a constant quotes can break its line. -/
theorem isOneLine_constantLine (l : Language) {scope name : String} (hscope : IsOneLine scope)
    (hname : IsOneLine name) (literal comment : String) :
    IsOneLine (l.constantLine scope name literal comment) ↔
      IsOneLine literal ∧ IsOneLine comment := by
  have htexts : ∀ text ∈ ["", " const string ", " = ", ";", " // ", " Const ", " As String = ",
      " ' "], IsOneLine text := by simp [IsOneLine, isLineEnd]
  simp only [List.forall_mem_cons] at htexts
  by_cases hcomment : comment = "" <;> cases l <;>
    simp [constantLine, hcomment, hscope, hname, htexts]

theorem endsInLine_constantLine (l : Language) (scope name literal : String) {comment : String}
    (hcomment : EndsInLine comment) : EndsInLine (l.constantLine scope name literal comment) := by
  cases l with
  | csharp =>
    rw [constantLine, if_neg hcomment.ne_empty]
    exact (hcomment.append " // ").append _
  | visualBasic =>
    rw [constantLine, if_neg hcomment.ne_empty]
    exact (hcomment.append " ' ").append _

theorem isBlankText_constantLine (l : Language) (scope name literal comment : String) :
    isBlankText (l.constantLine scope name literal comment) = false := by
  cases l <;> simp [constantLine, isBlankText, isBlank]

theorem isOneLine_titleLine (l : Language) (title : String) :
    IsOneLine (l.titleLine title) ↔ IsOneLine title := by
  have htexts : ∀ text ∈ ["#region ", "#Region \"", "\""], IsOneLine text := by
    simp [IsOneLine, isLineEnd]
  simp only [List.forall_mem_cons] at htexts
  cases l <;> simp [titleLine, htexts]

theorem isBlankText_titleLine (l : Language) (title : String) :
    isBlankText (l.titleLine title) = false := by
  cases l <;> simp [titleLine, isBlankText, isBlank]

theorem isOneLine_headerLine (l : Language) (header : String) :
    IsOneLine (l.headerLine header) ↔ IsOneLine header := by
  have htexts : ∀ text ∈ ["//     ", "'     "], IsOneLine text := by
    simp [IsOneLine, isLineEnd]
  simp only [List.forall_mem_cons] at htexts
  cases l <;> simp [headerLine, htexts]

/-- What has lines of a template to itself stands in what is written on lines of its own. -/
theorem standsIn_fill (l : Language) {kind : Kind} {fields : Fields}
    (hplaces : fields.map Prod.fst = kind.places) (parts : Template)
    (halone : StandsAlone parts (l.template kind)) {s : String}
    (hs : parts.render fields = .ok s) : StandsIn s (l.fill kind fields) := by
  have hslots := l.slots_subset_places kind
  rw [← hplaces] at hslots
  obtain ⟨whole, hwhole⟩ := render_ok hslots
  obtain ⟨part, hpart, hstands⟩ := halone.standsIn hwhole
  obtain rfl : part = s := Except.ok.inj (hpart.symm.trans hs)
  rwa [fill_of_render hwhole]

theorem standsIn_fill_slot (l : Language) {kind : Kind} {fields : Fields}
    (hplaces : fields.map Prod.fst = kind.places) {name : String} {v : Value}
    (hv : fields.value? name = some v) (halone : StandsAlone [Piece.slot name] (l.template kind)) :
    StandsIn v.print (l.fill kind fields) := by
  refine l.standsIn_fill hplaces _ halone ?_
  simp [Template.render, Part.render, Piece.render, hv, bind, Except.bind, pure, Except.pure]

theorem standsIn_fill_indented (l : Language) {kind : Kind} {fields : Fields}
    (hplaces : fields.map Prod.fst = kind.places) {name : String} {levels : Nat}
    (halone : StandsAlone [Piece.indented name levels] (l.template kind)) :
    StandsIn (markLines (fields.textOf name) (indentation levels) true) (l.fill kind fields) := by
  refine l.standsIn_fill hplaces _ halone ?_
  simp [Template.render, Part.render, Piece.render, bind, Except.bind, pure, Except.pure]

/-- The parts of a region's template that make its first line. -/
def titleParts : Language → Template
  | csharp => ["#region ", Piece.slot "name"]
  | visualBasic => ["#Region \"", Piece.slot "name", "\""]

/-- The parts of a class's template that make the line on where the class comes from. -/
def headerParts : Language → Template
  | csharp => ["//     ", Piece.slot "header"]
  | visualBasic => ["'     ", Piece.slot "header"]

theorem standsIn_fill_title (l : Language) (title : String) (body : Value) :
    StandsIn (l.titleLine title) (l.fill .region [("name", title), ("body", body)]) := by
  have halone : StandsAlone l.titleParts (l.template .region) := by
    cases l <;> decide +kernel
  refine l.standsIn_fill rfl _ halone ?_
  cases l <;>
    simp [titleParts, titleLine, Template.render, Part.render, Piece.render, Fields.value?,
      Value.print, bind, Except.bind, pure, Except.pure, String.append_assoc]

theorem standsIn_fill_header (l : Language) {kind : Kind}
    (hkind : kind ∈ [Kind.serviceClass, Kind.deviceClass]) {fields : Fields}
    (hplaces : fields.map Prod.fst = kind.places) {header : String}
    (hheader : fields.value? "header" = some (.text header)) :
    StandsIn (l.headerLine header) (l.fill kind fields) := by
  have halone : ∀ kind ∈ [Kind.serviceClass, Kind.deviceClass],
      StandsAlone l.headerParts (l.template kind) := by
    cases l <;> decide +kernel
  refine l.standsIn_fill hplaces _ (halone kind hkind) ?_
  cases l <;>
    simp [headerParts, headerLine, Template.render, Part.render, Piece.render, hheader, Value.print,
      bind, Except.bind, pure, Except.pure]

end ControlPoint.Language
