import Mathlib
import ControlPoint.Text.Lines
import ControlPoint.Proofs.Text.Cut

/-!
Lines as those who read a source see them. A text is laid out by its line feeds alone, but there are
five characters at which a compiler ends a line.
-/

namespace ControlPoint.Text

/-- The characters at which a compiler ends a line. -/
def isLineEnd (c : Char) : Bool :=
  c == '\n' || c == '\r' || c == '\u0085' || c == '\u2028' || c == '\u2029'

theorem isBlank_of_isLineEnd {c : Char} (hc : isLineEnd c = true) : isBlank c = true := by
  simp only [isLineEnd, Bool.or_eq_true, beq_iff_eq] at hc
  rcases hc with (((rfl | rfl) | rfl) | rfl) | rfl <;> decide

/-- The lines of a text for a compiler. -/
def physicalLines (s : String) : List String :=
  (splitWhere isLineEnd s.toList).map String.ofList

def IsOneLine (s : String) : Prop :=
  ∀ c ∈ s.toList, isLineEnd c = false

instance (s : String) : Decidable (IsOneLine s) :=
  inferInstanceAs (Decidable (∀ c ∈ s.toList, isLineEnd c = false))

@[simp] theorem isOneLine_append (a b : String) :
    IsOneLine (a ++ b) ↔ IsOneLine a ∧ IsOneLine b := by
  simp only [IsOneLine, String.toList_append, List.forall_mem_append]

theorem isOneLine_of_mem_physicalLines {line s : String} (hline : line ∈ physicalLines s) :
    IsOneLine line := by
  obtain ⟨piece, hpiece, rfl⟩ := List.mem_map.mp hline
  rw [IsOneLine, String.toList_ofList]
  exact not_of_mem_splitWhere piece hpiece

theorem physicalLines_of_isOneLine {s : String} (hs : IsOneLine s) : physicalLines s = [s] := by
  rw [physicalLines, splitWhere_of_forall_not hs, List.map_singleton, String.ofList_toList]

theorem physicalLines_ne_nil (s : String) : physicalLines s ≠ [] := by
  simpa [physicalLines] using splitWhere_ne_nil isLineEnd s.toList

theorem physicalLines_append_feed (a b : String) :
    physicalLines (a ++ "\n" ++ b) = physicalLines a ++ physicalLines b := by
  have hfeed : isLineEnd '\n' = true := rfl
  have hcut := splitWhere_append_cons hfeed a.toList b.toList
  simp [physicalLines, hcut]

/-- What is on one line stays with the first line of what comes after it. -/
theorem physicalLines_append {a : String} (ha : IsOneLine a) (b : String) :
    physicalLines (a ++ b) = (physicalLines b).modifyHead (a ++ ·) := by
  rw [physicalLines, String.toList_append, splitWhere_append ha, physicalLines]
  cases splitWhere isLineEnd b.toList with
  | nil => rfl
  | cons piece pieces => simp

theorem physicalLines_intercalate {parts : List String} (hne : parts ≠ []) :
    physicalLines (String.intercalate "\n" parts) = parts.flatMap physicalLines := by
  induction parts with
  | nil => exact absurd rfl hne
  | cons first rest ih =>
    cases rest with
    | nil => simp
    | cons second rest =>
      rw [String.intercalate_cons_of_ne_nil (by simp), physicalLines_append_feed, ih (by simp)]
      rfl

/-! ### Parts of a text that stand on lines of their own -/

/-- Whatever comes after the text starts a line. -/
def ClosesLine (s : String) : Prop :=
  s = "" ∨ ∃ rest, s = rest ++ "\n"

/-- Whatever comes before the text ends a line. -/
def OpensLine (s : String) : Prop :=
  s = "" ∨ ∃ rest, s = "\n" ++ rest

theorem ClosesLine.append {a b : String} (ha : ClosesLine a) (hb : ClosesLine b) :
    ClosesLine (a ++ b) := by
  rcases hb with rfl | ⟨rest, rfl⟩
  · simpa using ha
  · exact .inr ⟨a ++ rest, by rw [String.append_assoc]⟩

theorem OpensLine.append {a b : String} (ha : OpensLine a) (hb : OpensLine b) :
    OpensLine (a ++ b) := by
  rcases ha with rfl | ⟨rest, rfl⟩
  · simpa using hb
  · exact .inr ⟨rest ++ b, by rw [String.append_assoc]⟩

/-- The part makes up whole lines of the text, as line feeds end them. -/
def StandsIn (part whole : String) : Prop :=
  ∃ before after, whole = before ++ part ++ after ∧ ClosesLine before ∧ OpensLine after

theorem StandsIn.refl (s : String) : StandsIn s s :=
  ⟨"", "", by simp, .inl rfl, .inl rfl⟩

theorem StandsIn.trans {a b c : String} (hab : StandsIn a b) (hbc : StandsIn b c) :
    StandsIn a c := by
  obtain ⟨before, after, rfl, hbefore, hafter⟩ := hab
  obtain ⟨before', after', rfl, hbefore', hafter'⟩ := hbc
  refine ⟨before' ++ before, after ++ after', ?_, hbefore'.append hbefore, hafter.append hafter'⟩
  simp only [String.append_assoc]

/-- Lines that follow each other among those that are joined stand in what they are joined to. -/
theorem standsIn_intercalate {separator : String} (hcloses : ∃ rest, separator = rest ++ "\n")
    (hopens : ∃ rest, separator = "\n" ++ rest) {part whole : List String} (hne : part ≠ [])
    (hpart : part <:+: whole) :
    StandsIn (String.intercalate separator part) (String.intercalate separator whole) := by
  obtain ⟨earlier, later, rfl⟩ := hpart
  obtain ⟨before, hbefore, heq⟩ : ∃ before, ClosesLine before ∧
      String.intercalate separator (earlier ++ part) =
        before ++ String.intercalate separator part := by
    by_cases hearlier : earlier = []
    · exact ⟨"", .inl rfl, by simp [hearlier]⟩
    · refine ⟨String.intercalate separator earlier ++ separator, .inr ?_, ?_⟩
      · obtain ⟨rest, rfl⟩ := hcloses
        exact ⟨_, (String.append_assoc ..).symm⟩
      · rw [String.intercalate_append_of_ne_nil hearlier hne]
  by_cases hlater : later = []
  · exact ⟨before, "", by simp [hlater, heq], hbefore, .inl rfl⟩
  · refine ⟨before, separator ++ String.intercalate separator later, ?_, hbefore, .inr ?_⟩
    · rw [String.intercalate_append_of_ne_nil (by simp [hne]) hlater, heq, String.append_assoc]
    · obtain ⟨rest, rfl⟩ := hopens
      exact ⟨_, String.append_assoc ..⟩

/-- The lines of a part that stands in a text are lines of the text, one after another. -/
theorem StandsIn.physicalLines {part whole : String} (hstands : StandsIn part whole) :
    physicalLines part <:+: physicalLines whole := by
  obtain ⟨before, after, rfl, hbefore, hafter⟩ := hstands
  have hpart : Text.physicalLines part <:+: Text.physicalLines (before ++ part) := by
    rcases hbefore with rfl | ⟨rest, rfl⟩
    · simp
    · rw [physicalLines_append_feed]
      exact (List.suffix_append _ _).isInfix
  apply hpart.trans
  rcases hafter with rfl | ⟨rest, rfl⟩
  · simp
  · rw [← String.append_assoc, physicalLines_append_feed]
    exact (List.prefix_append _ _).isInfix

/-- A line that was written by itself is one for a compiler just if no line ends in it. -/
theorem StandsIn.mem_physicalLines_iff {line whole : String} (hstands : StandsIn line whole) :
    line ∈ Text.physicalLines whole ↔ IsOneLine line := by
  constructor
  · exact isOneLine_of_mem_physicalLines
  · intro hline
    apply hstands.physicalLines.subset
    simp [physicalLines_of_isOneLine hline]

/-! ### The lines by which a text is laid out -/

/-- A line without the carriage return at its end. -/
def withoutReturn (line : String) : String :=
  String.ofList (dropReturn line.toList)

/-- The text ends within a line. -/
def EndsInLine (s : String) : Prop :=
  ∃ rest c, s.toList = rest ++ [c] ∧ c ≠ '\n' ∧ c ≠ '\r'

theorem EndsInLine.append (a : String) {b : String} (hb : EndsInLine b) : EndsInLine (a ++ b) := by
  obtain ⟨rest, c, heq, hc⟩ := hb
  exact ⟨a.toList ++ rest, c, by rw [String.toList_append, heq, List.append_assoc], hc⟩

theorem EndsInLine.ne_empty {s : String} (hs : EndsInLine s) : s ≠ "" := by
  rintro rfl
  obtain ⟨rest, c, heq, -⟩ := hs
  simp at heq

theorem IsOneLine.not_mem_feed {s : String} (hs : IsOneLine s) : '\n' ∉ s.toList :=
  fun hmem => absurd (hs '\n' hmem) (by decide)

theorem IsOneLine.endsInLine {s : String} (hs : IsOneLine s) (hne : s ≠ "") : EndsInLine s := by
  have hchars : s.toList ≠ [] := by simpa using hne
  refine ⟨_, _, (List.dropLast_append_getLast hchars).symm, ?_, ?_⟩
  all_goals
    intro heq
    exact absurd (hs _ (heq ▸ List.getLast_mem hchars)) (by decide)

theorem dropReturn_append_of_ne {c : Char} (hc : c ≠ '\r') (before : List Char) :
    dropReturn (before ++ [c]) = before ++ [c] := by
  simp [dropReturn, hc]

theorem dropReturn_append_cons {c : Char} (hc : c ≠ '\r') (before after : List Char) :
    dropReturn (before ++ c :: after) = before ++ c :: dropReturn after := by
  rcases List.eq_nil_or_concat' after with rfl | ⟨rest, last, rfl⟩
  · simpa [dropReturn] using dropReturn_append_of_ne hc before
  · by_cases hlast : last = '\r'
    · simp [dropReturn, hlast]
    · rw [dropReturn_append_of_ne hlast, ← List.cons_append, ← List.append_assoc,
        dropReturn_append_of_ne hlast]

theorem EndsInLine.withoutReturn_append {a : String} (ha : EndsInLine a) (b : String) :
    withoutReturn (a ++ b) = a ++ withoutReturn b := by
  obtain ⟨rest, c, heq, -, hc⟩ := ha
  have hdrop := dropReturn_append_cons hc rest b.toList
  apply String.toList_inj.mp
  simpa [withoutReturn, heq] using hdrop

theorem linesFrom_cons_of_ne {c : Char} (hc : c ≠ '\n') (line rest : List Char) :
    linesFrom line (c :: rest) = linesFrom (c :: line) rest := by
  rw [linesFrom.eq_3 _ _ _ hc]

theorem linesFrom_append_cons (line before after : List Char) :
    linesFrom line (before ++ '\n' :: after) =
      linesFrom line (before ++ ['\n']) ++ linesFrom [] after := by
  induction before generalizing line with
  | nil => simp [linesFrom]
  | cons c rest ih =>
    by_cases hc : c = '\n'
    · simp [hc, linesFrom, ih]
    · simp only [List.cons_append, linesFrom_cons_of_ne hc, ih]

/-- A line feed at the end of a text makes no line where the text ends within one. -/
theorem linesFrom_append_feed {c : Char} (hfeed : c ≠ '\n') (hreturn : c ≠ '\r')
    (line before : List Char) :
    linesFrom line (before ++ [c] ++ ['\n']) = linesFrom line (before ++ [c]) := by
  induction before generalizing line with
  | nil => simp [linesFrom_cons_of_ne hfeed, linesFrom, dropReturn_append_of_ne hreturn]
  | cons first rest ih =>
    by_cases hfirst : first = '\n'
    · simp only [hfirst, List.cons_append, linesFrom, ih]
    · simp only [List.cons_append, linesFrom_cons_of_ne hfirst, ih]

theorem linesFrom_of_not_mem {cs : List Char} (hcs : '\n' ∉ cs) (line rest : List Char) :
    linesFrom line (cs ++ rest) = linesFrom (cs.reverse ++ line) rest := by
  induction cs generalizing line with
  | nil => rfl
  | cons c cs ih =>
    rw [List.mem_cons, not_or] at hcs
    rw [List.cons_append, linesFrom_cons_of_ne (Ne.symm hcs.1), ih hcs.2]
    simp

theorem lines_append_feed (a b : String) :
    lines (a ++ "\n" ++ b) = lines (a ++ "\n") ++ lines b := by
  have hlines := linesFrom_append_cons [] a.toList b.toList
  simp [lines, hlines]

theorem EndsInLine.lines_append_feed {s : String} (hs : EndsInLine s) :
    lines (s ++ "\n") = lines s := by
  obtain ⟨rest, c, heq, hfeed, hreturn⟩ := hs
  have hlines := linesFrom_append_feed hfeed hreturn [] rest
  rw [lines, lines, String.toList_append, heq]
  exact congrArg _ hlines

theorem lines_append_of_not_mem {line : String} (hline : '\n' ∉ line.toList) (rest : String) :
    lines (line ++ "\n" ++ rest) = withoutReturn line :: lines rest := by
  have hlines := linesFrom_of_not_mem hline [] ('\n' :: rest.toList)
  simp [lines, hlines, linesFrom, withoutReturn]

theorem lines_of_not_mem {line : String} (hline : '\n' ∉ line.toList) (hne : line ≠ "") :
    lines line = [line] := by
  have hlines := linesFrom_of_not_mem hline [] []
  simp [lines] at *
  simp [hlines, linesFrom, hne]

/-- What is joined by line feeds falls into the same lines again, but for carriage returns at their
    ends. -/
theorem lines_intercalate {parts : List String} {last : String}
    (hparts : ∀ part ∈ parts, '\n' ∉ part.toList) (hlast : '\n' ∉ last.toList) (hne : last ≠ "") :
    lines (String.intercalate "\n" (parts ++ [last])) = parts.map withoutReturn ++ [last] := by
  induction parts with
  | nil => simpa using lines_of_not_mem hlast hne
  | cons first rest ih =>
    rw [List.forall_mem_cons] at hparts
    rw [List.cons_append, String.intercalate_cons_of_ne_nil (by simp),
      lines_append_of_not_mem hparts.1, ih hparts.2, List.map_cons, List.cons_append]

theorem dropReturn_subset (line : List Char) : dropReturn line ⊆ line := by
  unfold dropReturn
  split
  · rename_i rest hrest
    have hline : line = rest.reverse ++ ['\r'] := by
      rw [← List.reverse_cons, ← hrest, List.reverse_reverse]
    rw [hline]
    exact List.subset_append_left _ _
  · exact List.Subset.refl _

theorem not_mem_of_mem_linesFrom {line : List Char} (hline : '\n' ∉ line) (cs : List Char) :
    ∀ found ∈ linesFrom line cs, '\n' ∉ found := by
  induction cs generalizing line with
  | nil =>
    intro found hfound
    by_cases hempty : line = []
    · simp [linesFrom, hempty] at hfound
    · simp only [linesFrom, List.isEmpty_iff, hempty, if_false, List.mem_singleton] at hfound
      simpa [hfound] using hline
  | cons c rest ih =>
    by_cases hc : c = '\n'
    · rw [hc, linesFrom, List.forall_mem_cons]
      refine ⟨fun hmem => hline ?_, ih List.not_mem_nil⟩
      exact List.mem_reverse.mp (dropReturn_subset _ hmem)
    · rw [linesFrom_cons_of_ne hc]
      exact ih (by simp [hline, Ne.symm hc])

/-- The lines of a text have no line feeds. -/
theorem not_mem_of_mem_lines {s line : String} (hline : line ∈ lines s) : '\n' ∉ line.toList := by
  obtain ⟨found, hfound, rfl⟩ := List.mem_map.mp hline
  rw [String.toList_ofList]
  exact not_mem_of_mem_linesFrom List.not_mem_nil s.toList found hfound

theorem linesFrom_ne_nil {line cs : List Char} (hne : line ++ cs ≠ []) :
    linesFrom line cs ≠ [] := by
  induction cs generalizing line with
  | nil =>
    rw [List.append_nil] at hne
    simp [linesFrom, hne]
  | cons c rest ih =>
    by_cases hc : c = '\n'
    · simp [hc, linesFrom]
    · rw [linesFrom_cons_of_ne hc]
      exact ih (by simp)

theorem lines_ne_nil {s : String} (hne : s ≠ "") : lines s ≠ [] := by
  have hlines : linesFrom [] s.toList ≠ [] := linesFrom_ne_nil (by simpa using hne)
  simpa [lines] using hlines

/-- The lines of a part that ends within a line are lines of the text in which it stands. -/
theorem StandsIn.lines {part whole : String} (hstands : StandsIn part whole)
    (hends : EndsInLine part) : lines part <:+: lines whole := by
  obtain ⟨before, after, rfl, hbefore, hafter⟩ := hstands
  have hpart : Text.lines part <:+: Text.lines (part ++ after) := by
    rcases hafter with rfl | ⟨rest, rfl⟩
    · simp
    · rw [← String.append_assoc, Text.lines_append_feed, hends.lines_append_feed]
      exact (List.prefix_append _ _).isInfix
  apply hpart.trans
  rcases hbefore with rfl | ⟨rest, rfl⟩
  · simp
  · rw [String.append_assoc, Text.lines_append_feed]
    exact (List.suffix_append _ _).isInfix

/-- A part that stands in a text does so after the lines of both have been marked. -/
theorem StandsIn.markLines {part whole : String} (hstands : StandsIn part whole)
    (hends : EndsInLine part) (mark : String) (skipBlank : Bool) :
    StandsIn (markLines part mark skipBlank) (markLines whole mark skipBlank) := by
  have hlines := (hstands.lines hends).map fun line =>
    if skipBlank && isBlankText line then "" else mark ++ line
  have hne := lines_ne_nil hends.ne_empty
  exact standsIn_intercalate ⟨"", rfl⟩ ⟨"", rfl⟩ (by simpa using hne) hlines

theorem markLines_of_isOneLine {line : String} (hline : IsOneLine line)
    (hblank : isBlankText line = false) (mark : String) (skipBlank : Bool) :
    Text.markLines line mark skipBlank = mark ++ line := by
  have hne : line ≠ "" := by
    rintro rfl
    exact absurd hblank (by decide)
  simp [Text.markLines, lines_of_not_mem hline.not_mem_feed hne, hblank]

/-- A line that stands in a text is one for a compiler after the lines of the text have been marked,
    just if no line ends in it. -/
theorem StandsIn.mem_physicalLines_markLines_iff {line whole source mark : String}
    (hline : StandsIn line whole) (hblank : isBlankText line = false) (hmark : IsOneLine mark)
    (skipBlank : Bool) (hwhole : StandsIn (Text.markLines whole mark skipBlank) source) :
    mark ++ line ∈ Text.physicalLines source ↔ IsOneLine line := by
  have hne : line ≠ "" := by
    rintro rfl
    exact absurd hblank (by decide)
  constructor
  · intro hmem
    exact ((isOneLine_append ..).mp (isOneLine_of_mem_physicalLines hmem)).2
  · intro honeLine
    have hmarked := (hline.markLines (honeLine.endsInLine hne) mark skipBlank).trans hwhole
    rw [markLines_of_isOneLine honeLine hblank] at hmarked
    exact hmarked.mem_physicalLines_iff.mpr ((isOneLine_append ..).mpr ⟨hmark, honeLine⟩)

end ControlPoint.Text
