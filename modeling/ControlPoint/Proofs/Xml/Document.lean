import Mathlib
import ControlPoint.Proofs.Xml.Part
import ControlPoint.Xml.Document

namespace ControlPoint.Xml

open Text

namespace Element

/-- An element that is written so that it can be read: all names and values may stand in a document,
    and it does not hold both a text and elements. -/
inductive IsWritable : Element → Prop
  | empty {name : String} {attributes : List (String × String)} (htag : IsTag name attributes)
      (hdistinct : Building.areDistinct attributes = true) :
      IsWritable (mk name attributes none [])
  | text {name : String} {attributes : List (String × String)} {text : String}
      (htag : IsTag name attributes) (hdistinct : Building.areDistinct attributes = true)
      (htext : IsAllowed text) : IsWritable (mk name attributes (some text) [])
  | nested {name : String} {attributes : List (String × String)} {children : List Element}
      (htag : IsTag name attributes) (hdistinct : Building.areDistinct attributes = true)
      (hne : children ≠ []) (hchildren : ∀ c ∈ children, IsWritable c) :
      IsWritable (mk name attributes none children)

mutual

/-- The element as it is read again: a text of nothing but white space is gone. -/
def asRead : Element → Element
  | mk name attributes text children =>
    mk name attributes (text.filter fun t => !t.toList.all isMarkupBlank) (allAsRead children)
termination_by structural e => e

def allAsRead : List Element → List Element
  | [] => []
  | e :: rest => asRead e :: allAsRead rest
termination_by structural elements => elements

end

theorem allAsRead_eq (elements : List Element) : allAsRead elements = elements.map asRead := by
  induction elements with
  | nil => rfl
  | cons e rest ih => exact congrArg (asRead e :: ·) ih

@[simp] theorem asRead_mk (name : String) (attributes : List (String × String))
    (text : Option String) (children : List Element) :
    asRead (mk name attributes text children) =
      mk name attributes (text.filter fun t => !t.toList.all isMarkupBlank)
        (children.map asRead) := by
  rw [asRead, allAsRead_eq]

@[simp] theorem asRead_name (e : Element) : e.asRead.name = e.name := by
  cases e
  rfl

end Element

namespace Building

theorem addAll_append (version : Version) (b : Building) (first second : List Part) :
    b.addAll version (first ++ second) =
      (b.addAll version first).bind fun next => next.addAll version second := by
  induction first generalizing b with
  | nil => rfl
  | cons part rest ih =>
    simp only [List.cons_append, addAll, Option.bind_eq_bind]
    cases b.add version part with
    | none => rfl
    | some next => exact ih next

theorem addAll_cons (version : Version) (b : Building) (part : Part) (rest : List Part) :
    b.addAll version (part :: rest) =
      (b.add version part).bind fun next => next.addAll version rest := rfl

/-- A text inside an element is added to it, unless it is nothing but white space. -/
theorem add_escapedInText {b : Building} {o : OpenElement} {outer : List OpenElement}
    (hopened : b.opened = o :: outer) (hkeeps : b.keepsBlank = false) {text : String}
    (htext : IsAllowed text) :
    b.add .first (.text (text.toList.flatMap escapedInText)) =
      some (if text.toList.all isMarkupBlank then b
        else { b with opened := { o with texts := text.toList :: o.texts } :: outer }) := by
  have hword : cutAtWord "]]>".toList (text.toList.flatMap escapedInText) = none :=
    cutAtWord_eq_none (c := '>') (by decide)
      (not_mem_flatMap (fun c => (escapedInText_brackets c).2) text.toList)
  obtain ⟨opened, roots, hasDoctype, keepsBlank⟩ := b
  simp only at hopened hkeeps
  subst hopened hkeeps
  simp only [add, addText, hword, Option.isSome_none, Bool.false_eq_true, if_false,
    resolved?_escapedInText htext, Option.bind_eq_bind, Option.bind_some, Bool.not_false,
    Bool.and_true]
  split <;> rfl

/-- White space inside an element does not count. -/
theorem add_lineStart {b : Building} {o : OpenElement} {outer : List OpenElement}
    (hopened : b.opened = o :: outer) (hkeeps : b.keepsBlank = false) (depth : Nat) :
    b.add .first (.text (lineStart depth)) = some b := by
  have hchars : ∀ c ∈ lineStart depth, c = '\n' ∨ c = ' ' := by
    intro c hc
    rcases List.mem_cons.mp hc with rfl | hc
    · exact .inl rfl
    · exact .inr (List.eq_of_mem_replicate hc)
  have hallowed : IsAllowed (String.ofList (lineStart depth)) := by
    intro c hc
    rw [String.toList_ofList] at hc
    rcases hchars c hc with rfl | rfl <;> decide
  have hescaped : (lineStart depth).flatMap escapedInText = lineStart depth := by
    have hsame : ∀ c ∈ lineStart depth, escapedInText c = [c] := by
      intro c hc
      rcases hchars c hc with rfl | rfl <;> rfl
    rw [List.flatMap_congr hsame]
    simp
  have hblank : (lineStart depth).all isMarkupBlank = true := by
    rw [List.all_eq_true]
    intro c hc
    rcases hchars c hc with rfl | rfl <;> rfl
  have hadd := add_escapedInText hopened hkeeps hallowed
  simpa only [String.toList_ofList, hescaped, hblank, if_true] using hadd

end Building

namespace Element

/-- The parts of an element as it is written add the element, as it is read again, to any tree. -/
def IsReadBack (e : Element) : Prop :=
  ∀ depth, ∃ parts, HasParts (textAt depth e) parts ∧
    ∀ b : Building, b.keepsBlank = false → b.addAll .first parts = some (b.addElement e.asRead)

/-- A start tag opens an element, and its close tag finishes it. -/
theorem addAll_between {name : String} {attributes : List (String × String)}
    (hdistinct : Building.areDistinct attributes = true) {parts : List Part} {b : Building}
    (hkeeps : b.keepsBlank = false) {texts : List (List Char)} {children : List Element}
    (hparts :
      Building.addAll .first { b with opened := ⟨name, attributes, [], []⟩ :: b.opened } parts =
        some { b with opened := ⟨name, attributes, texts, children⟩ :: b.opened }) :
    b.addAll .first (.start name attributes :: parts ++ [.close name]) =
      some (b.addElement (OpenElement.finish ⟨name, attributes, texts, children⟩)) := by
  obtain ⟨opened, roots, hasDoctype, keepsBlank⟩ := b
  simp only at hkeeps hparts
  subst hkeeps
  rw [List.cons_append, Building.addAll_cons, Building.add, if_pos hdistinct, Option.bind_some,
    Building.addAll_append, hparts, Option.bind_some, Building.addAll_cons, Building.add]
  simp [Building.addAll]

theorem isReadBack_empty {name : String} {attributes : List (String × String)}
    (htag : IsTag name attributes) (hdistinct : Building.areDistinct attributes = true) :
    IsReadBack (mk name attributes none []) := by
  intro depth
  refine ⟨[.empty name attributes], hasParts_empty htag, fun b hkeeps => ?_⟩
  simp [Building.addAll, Building.add, hdistinct]

/-- What stands between the tags of an element with a text: nothing where the text is empty. -/
theorem exists_parts_text {name text : String} (hname : isQualifiedName name.toList = true)
    (htext : IsAllowed text) :
    ∃ parts, HasParts (text.toList.flatMap escapedInText ++ ("</".toList ++ name.toList ++ ['>']))
        (parts ++ [.close name]) ∧
      ∀ (b : Building) (attributes : List (String × String)), b.keepsBlank = false →
        Building.addAll .first { b with opened := ⟨name, attributes, [], []⟩ :: b.opened } parts =
          some { b with opened := ⟨name, attributes,
            if text.toList.all isMarkupBlank then [] else [text.toList], []⟩ :: b.opened } := by
  by_cases hempty : text.toList.flatMap escapedInText = []
  · refine ⟨[], ?_, fun b attributes _ => ?_⟩
    · rw [hempty]
      exact hasParts_close hname
    · have hnil : text.toList = [] := by
        have hresolved := resolved?_escapedInText htext
        rw [hempty] at hresolved
        exact (Option.some.inj hresolved).symm
      simp [Building.addAll, hnil]
  · refine ⟨[.text (text.toList.flatMap escapedInText)], ?_, fun b attributes hkeeps => ?_⟩
    · exact .text_append hempty
        (not_mem_flatMap (fun c => (escapedInText_brackets c).1) text.toList)
        (hasParts_close hname)
    · rw [Building.addAll_cons, Building.add_escapedInText (b := { b with
        opened := ⟨name, attributes, [], []⟩ :: b.opened }) rfl hkeeps htext, Option.bind_some]
      split <;> rfl

theorem isReadBack_text {name text : String} {attributes : List (String × String)}
    (htag : IsTag name attributes) (hdistinct : Building.areDistinct attributes = true)
    (htext : IsAllowed text) : IsReadBack (mk name attributes (some text) []) := by
  intro depth
  obtain ⟨parts, hparts, hadd⟩ := exists_parts_text htag.name htext
  refine ⟨.start name attributes :: parts ++ [.close name], ?_, fun b hkeeps => ?_⟩
  · have hall := (hasParts_start htag).append hparts
    simpa [textAt] using hall
  · rw [addAll_between hdistinct hkeeps (hadd b attributes hkeeps)]
    rw [asRead_mk, Option.filter_some, OpenElement.finish]
    cases text.toList.all isMarkupBlank <;> simp

theorem exists_textAt (depth : Nat) (e : Element) : ∃ tail, textAt depth e = '<' :: tail := by
  obtain ⟨name, attributes, text, children⟩ := e
  rcases children with _ | ⟨c, rest⟩
  · cases text <;> exact ⟨_, rfl⟩
  · cases text <;> exact ⟨_, rfl⟩

theorem lineStart_ne_nil (depth : Nat) : lineStart depth ≠ [] := List.cons_ne_nil _ _

theorem not_mem_lineStart (depth : Nat) : '<' ∉ lineStart depth := by
  simp [lineStart, List.mem_replicate]

/-- Elements on lines of their own go into the element around them, in order. -/
theorem exists_parts_lines {elements : List Element} (helements : ∀ e ∈ elements, IsReadBack e)
    (depth : Nat) :
    ∃ parts, HasParts (linesAt depth elements) parts ∧
      ∀ (b : Building) (o : OpenElement) (outer : List OpenElement), b.opened = o :: outer →
        b.keepsBlank = false → b.addAll .first parts = some { b with
          opened := { o with children := (elements.map asRead).reverse ++ o.children } :: outer } := by
  induction elements with
  | nil =>
    refine ⟨[], HasParts.nil, fun b o outer hopened _ => ?_⟩
    simp [Building.addAll, ← hopened]
  | cons e rest ih =>
    rw [List.forall_mem_cons] at helements
    obtain ⟨here, hhere, hadd⟩ := helements.1 depth
    obtain ⟨parts, hparts, hrest⟩ := ih helements.2
    obtain ⟨tail, htail⟩ := exists_textAt depth e
    refine ⟨.text (lineStart depth) :: here ++ parts, ?_, fun b o outer hopened hkeeps => ?_⟩
    · rw [htail] at hhere
      have hline := HasParts.text_append (lineStart_ne_nil depth) (not_mem_lineStart depth) hhere
      rw [linesAt, htail]
      exact hline.append hparts
    · have hnext : (b.addElement e.asRead).opened =
          { o with children := e.asRead :: o.children } :: outer := by
        simp [Building.addElement, hopened]
      have hfalse : (b.addElement e.asRead).keepsBlank = false := by
        simp [Building.addElement, hopened]
      rw [List.cons_append, Building.addAll_cons, Building.add_lineStart hopened hkeeps,
        Option.bind_some, Building.addAll_append, hadd b hkeeps, Option.bind_some,
        hrest _ _ _ hnext hfalse]
      simp [Building.addElement, hopened, hkeeps]

theorem isReadBack_nested {name : String} {attributes : List (String × String)}
    {children : List Element} (htag : IsTag name attributes)
    (hdistinct : Building.areDistinct attributes = true) (hne : children ≠ [])
    (hchildren : ∀ c ∈ children, IsReadBack c) : IsReadBack (mk name attributes none children) := by
  intro depth
  obtain ⟨parts, hparts, hadd⟩ := exists_parts_lines hchildren (depth + 1)
  obtain ⟨first, rest, rfl⟩ := List.exists_cons_of_ne_nil hne
  refine ⟨.start name attributes :: (parts ++ [.text (lineStart depth)]) ++ [.close name], ?_,
    fun b hkeeps => ?_⟩
  · have hclose : HasParts (lineStart depth ++ '<' :: '/' :: (name.toList ++ ['>']))
        [.text (lineStart depth), .close name] :=
      .text_append (lineStart_ne_nil depth) (not_mem_lineStart depth) (hasParts_close htag.name)
    have hall := ((hasParts_start htag).append hparts).append hclose
    simpa [textAt] using hall
  · have hbetween := @addAll_between name attributes hdistinct (parts ++ [.text (lineStart depth)]) b
      hkeeps [] (List.map asRead (first :: rest)).reverse
    rw [hbetween]
    · simp [OpenElement.finish]
    · have hlines := hadd { b with opened := ⟨name, attributes, [], []⟩ :: b.opened } _ _ rfl hkeeps
      rw [List.append_nil] at hlines
      have hline := Building.add_lineStart (b := { b with opened :=
        ⟨name, attributes, [], (List.map asRead (first :: rest)).reverse⟩ :: b.opened })
        rfl hkeeps depth
      rw [Building.addAll_append, hlines, Option.bind_some, Building.addAll_cons]
      exact congrArg (Option.bind · _) hline

/-- Whatever may be written is read back. -/
theorem IsWritable.isReadBack {e : Element} (hwritable : e.IsWritable) : IsReadBack e := by
  induction hwritable with
  | empty htag hdistinct => exact isReadBack_empty htag hdistinct
  | text htag hdistinct htext => exact isReadBack_text htag hdistinct htext
  | nested htag hdistinct hne _ ih => exact isReadBack_nested htag hdistinct hne ih

end Element

/-! ### Prefixes -/

theorem areScoped_eq (known : Prefixes) (elements : List Element) :
    areScoped known elements = elements.all (isScoped known) := by
  induction elements with
  | nil => rfl
  | cons e rest ih => rw [areScoped, ih, List.all_cons]

mutual

/-- What becomes of texts makes no difference to prefixes. -/
theorem isScoped_asRead (known : Prefixes) : (e : Element) →
    isScoped known e.asRead = isScoped known e
  | .mk name attributes text children => by
    rw [Element.asRead, isScoped, isScoped, areScoped_allAsRead]

theorem areScoped_allAsRead (known : Prefixes) : (elements : List Element) →
    areScoped known (Element.allAsRead elements) = areScoped known elements
  | [] => rfl
  | e :: rest => by
    rw [Element.allAsRead, areScoped, areScoped, isScoped_asRead, areScoped_allAsRead]

end

/-! ### Whole documents -/

theorem cutXmlDeclaration_document (cs : List Char) :
    cutXmlDeclaration ("<?xml version=\"1.0\" encoding=\"UTF-8\"?>\n".toList ++ cs) =
      some (.first, '\n' :: cs) := by
  rfl

theorem withoutMark_document (e : Element) :
    Markup.withoutMark e.document =
      "<?xml version=\"1.0\" encoding=\"UTF-8\"?>\n".toList ++ Element.textAt 0 e := by
  have hplain (cs : List Char) : Markup.withoutMark (String.ofList ('<' :: cs)) = '<' :: cs := by
    simp [Markup.withoutMark]
  exact hplain _

/-- A document that was written is read as its element, but for texts of nothing but white space. -/
theorem read?_document {e : Element} (hwritable : e.IsWritable)
    (hscoped : isScoped reservedNamespaces e = true) : read? e.document = some e.asRead := by
  obtain ⟨parts, hparts, hadd⟩ := hwritable.isReadBack 0
  obtain ⟨tail, htail⟩ := Element.exists_textAt 0 e
  have hline : HasParts ('\n' :: Element.textAt 0 e) (.text ['\n'] :: parts) := by
    rw [htail] at hparts ⊢
    exact .text_append (List.cons_ne_nil '\n' []) (by simp) hparts
  have hall : Building.start.addAll .first (.text ['\n'] :: parts) =
      some (Building.start.addElement e.asRead) := by
    rw [Building.addAll_cons]
    exact hadd Building.start rfl
  rw [read?, withoutMark_document, topElements?, cutXmlDeclaration_document]
  simp only [Option.bind_eq_bind, Option.bind_some, hline.parts?_eq, hall]
  simp [Building.addElement, Building.start, areScoped, isScoped_asRead, hscoped]

end ControlPoint.Xml
