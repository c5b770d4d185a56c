import Mathlib
import ControlPoint.Description.Urn
import ControlPoint.Proofs.Naming.Identifier
import ControlPoint.Proofs.Text.Cut
import ControlPoint.Proofs.Text.Decimal
import ControlPoint.Proofs.Text.Trim

namespace ControlPoint.Description

open Text

namespace Urn

/-- What comes after a part: nothing, or a colon with anything behind it. -/
def EndsPart (rest : String) : Prop :=
  rest = "" ∨ ∃ later, rest = ":" ++ later

/-- A text that opens as a name does, with three parts between colons, the third of them not empty,
    and then the rest. -/
structure IsDividedInto (text domain kind name rest : String) : Prop where
  text_eq : text = "urn:" ++ (domain ++ ":" ++ (kind ++ ":" ++ (name ++ rest)))
  uncutDomain : ':' ∉ domain.toList
  uncutKind : ':' ∉ kind.toList
  uncutName : ':' ∉ name.toList
  named : name ≠ ""
  ends : EndsPart rest

/-- The part at the beginning of the rest is a number of 32 bits. -/
def IsVersionIn (rest : String) (n : Nat) : Prop :=
  ∃ part later, rest = ":" ++ (part ++ later) ∧ ':' ∉ part.toList ∧ EndsPart later ∧
    IsDecimal part n ∧ n < 2 ^ 32

/-- A name with a version, written out. -/
def written (domain kind name : String) (version : Nat) : String :=
  "urn:" ++ (domain ++ ":" ++ (kind ++ ":" ++ (name ++ (":" ++ toString version))))

/-! ### Pieces between colons -/

/-- The pieces of what comes after a part. -/
def restPieces (rest : String) : List String :=
  (splitChar ':' rest).tail

theorem restPieces_colon (later : String) : restPieces (":" ++ later) = splitChar ':' later := by
  have hempty : ':' ∉ "".toList := by simp
  exact congrArg List.tail (splitChar_append_singleton hempty later)

theorem splitChar_part {part rest : String} (hpart : ':' ∉ part.toList) (hrest : EndsPart rest) :
    splitChar ':' (part ++ rest) = part :: restPieces rest := by
  obtain rfl | ⟨later, rfl⟩ := hrest
  · rw [String.append_empty, splitChar_of_notMem hpart]
    rfl
  · rw [restPieces_colon, ← String.append_assoc]
    exact splitChar_append_singleton hpart later

theorem exists_part_of_splitChar {s part : String} {others : List String}
    (hsplit : splitChar ':' s = part :: others) :
    ':' ∉ part.toList ∧ ∃ rest, s = part ++ rest ∧ EndsPart rest := by
  obtain ⟨hpart, ⟨-, rfl⟩ | ⟨later, rfl, -⟩⟩ := splitChar_eq_cons_iff.mp hsplit
  · exact ⟨hpart, "", String.append_empty.symm, .inl rfl⟩
  · exact ⟨hpart, ":" ++ later, String.append_assoc, .inr ⟨later, rfl⟩⟩

theorem exists_two_parts_of_splitChar {s part next : String} {others : List String}
    (hsplit : splitChar ':' s = part :: next :: others) :
    ':' ∉ part.toList ∧ ∃ rest, s = part ++ ":" ++ rest ∧ splitChar ':' rest = next :: others := by
  obtain ⟨hpart, ⟨hothers, -⟩ | ⟨rest, rfl, hrest⟩⟩ := splitChar_eq_cons_iff.mp hsplit
  · cases hothers
  · exact ⟨hpart, rest, rfl, hrest⟩

/-- A text is divided into parts just as its pieces between colons say. -/
theorem exists_isDividedInto_iff {text domain kind name : String} {more : List String} :
    (∃ rest, IsDividedInto text domain kind name rest ∧ restPieces rest = more) ↔
      ∃ body, text = "urn:" ++ body ∧
        splitChar ':' body = domain :: kind :: name :: more ∧ name ≠ "" := by
  constructor
  · rintro ⟨rest, hdivided, rfl⟩
    have hdomain := splitChar_append_singleton hdivided.uncutDomain (kind ++ ":" ++ (name ++ rest))
    have hkind := splitChar_append_singleton hdivided.uncutKind (name ++ rest)
    have hname := splitChar_part hdivided.uncutName hdivided.ends
    refine ⟨_, hdivided.text_eq, ?_, hdivided.named⟩
    exact hdomain.trans (congrArg _ (hkind.trans (congrArg _ hname)))
  · rintro ⟨body, rfl, hpieces, hnamed⟩
    obtain ⟨hdomain, behindDomain, rfl, hkinds⟩ := exists_two_parts_of_splitChar hpieces
    obtain ⟨hkind, behindKind, rfl, hnames⟩ := exists_two_parts_of_splitChar hkinds
    obtain ⟨hname, rest, rfl, hends⟩ := exists_part_of_splitChar hnames
    refine ⟨rest, ⟨rfl, hdomain, hkind, hname, hnamed, hends⟩, ?_⟩
    rw [splitChar_part hname hends] at hnames
    exact (List.cons.inj hnames).2

theorem parse?_eq_some_iff_pieces {text : String} {u : Urn} :
    parse? text = some u ↔
      ∃ more, (∃ body, trim text = "urn:" ++ body ∧
          splitChar ':' body = u.domain :: u.kind :: u.name :: more ∧ u.name ≠ "") ∧
        u.version = more.head?.bind decimal32? := by
  have htrim (body : List Char) :
      trimChars text.toList = "urn:".toList ++ body ↔
        trim text = "urn:" ++ String.ofList body := by
    simp [← String.toList_inj, trim]
  rw [parse?, Option.bind_eq_bind, Option.bind_eq_some_iff]
  constructor
  · rintro ⟨body, hbody, hparts⟩
    rw [afterStart_eq_some_iff, htrim] at hbody
    split at hparts
    · rename_i domain kind name more hpieces
      split at hparts
      · cases hparts
      · rename_i hnamed
        obtain rfl := Option.some.inj hparts
        refine ⟨more, ⟨_, hbody, ?_, by simpa using hnamed⟩, rfl⟩
        rw [splitChar, String.toList_ofList, hpieces]
    · cases hparts
  · rintro ⟨more, ⟨body, hbody, hpieces, hnamed⟩, hversion⟩
    refine ⟨body.toList, ?_, ?_⟩
    · rw [afterStart_eq_some_iff, htrim, String.ofList_toList]
      exact hbody
    · rw [splitChar] at hpieces
      rw [hpieces]
      dsimp only
      rw [if_neg (by simpa using hnamed), ← hversion]

/-- The piece after the name is a version just if it is a number of 32 bits. -/
theorem head?_restPieces_bind_iff {rest : String} (hrest : EndsPart rest) (n : Nat) :
    (restPieces rest).head?.bind decimal32? = some n ↔ IsVersionIn rest n := by
  obtain rfl | ⟨later, rfl⟩ := hrest
  · simp [restPieces, splitChar_of_notMem, IsVersionIn]
  · rw [restPieces_colon]
    constructor
    · intro hversion
      obtain ⟨part, hpart, hdecimal⟩ := Option.bind_eq_some_iff.mp hversion
      obtain ⟨others, hsplit⟩ := List.head?_eq_some_iff.mp hpart
      obtain ⟨hcolon, behind, rfl, hends⟩ := exists_part_of_splitChar hsplit
      exact ⟨part, behind, rfl, hcolon, hends, decimalBelow?_eq_some_iff.mp hdecimal⟩
    · rintro ⟨part, behind, hlater, hcolon, hends, hdecimal⟩
      obtain rfl := (String.append_right_inj ":").mp hlater
      rw [splitChar_part hcolon hends]
      exact decimalBelow?_eq_some_iff.mpr hdecimal

/-- A name is read in the parts that it is divided into. -/
theorem parse?_eq_some_iff {text : String} {u : Urn} :
    parse? text = some u ↔
      ∃ rest, IsDividedInto (trim text) u.domain u.kind u.name rest ∧
        ∀ n, u.version = some n ↔ IsVersionIn rest n := by
  rw [parse?_eq_some_iff_pieces]
  simp only [← exists_isDividedInto_iff]
  constructor
  · rintro ⟨more, ⟨rest, hdivided, rfl⟩, hversion⟩
    refine ⟨rest, hdivided, fun n => ?_⟩
    rw [hversion]
    exact head?_restPieces_bind_iff hdivided.ends n
  · rintro ⟨rest, hdivided, hversion⟩
    refine ⟨_, ⟨rest, hdivided, rfl⟩, Option.ext fun n => ?_⟩
    exact (hversion n).trans (head?_restPieces_bind_iff hdivided.ends n).symm

theorem exists_parse?_iff (text : String) :
    (∃ u, parse? text = some u) ↔
      ∃ domain kind name rest, IsDividedInto (trim text) domain kind name rest := by
  constructor
  · rintro ⟨u, hu⟩
    obtain ⟨rest, hdivided, -⟩ := parse?_eq_some_iff.mp hu
    exact ⟨u.domain, u.kind, u.name, rest, hdivided⟩
  · rintro ⟨domain, kind, name, rest, hdivided⟩
    refine ⟨⟨domain, kind, name, (restPieces rest).head?.bind decimal32?⟩, ?_⟩
    exact parse?_eq_some_iff.mpr
      ⟨rest, hdivided, head?_restPieces_bind_iff hdivided.ends⟩

/-! ### Names that are written out -/

/-- A name that ends with its version has no white space around it. -/
theorem trim_written (domain kind name : String) (version : Nat) :
    trim (written domain kind name version) = written domain kind name version := by
  let digits := Nat.toDigits 10 version
  have hne : digits ≠ [] := Nat.toDigits_ne_nil
  obtain ⟨middle, hmiddle⟩ : ∃ middle, (written domain kind name version).toList =
      'u' :: middle ++ digits := by
    refine ⟨"rn:".toList ++ domain.toList ++ [':'] ++ kind.toList ++ [':'] ++ name.toList ++ [':'],
      ?_⟩
    simp [written, digits]
  have hlast : ∀ c ∈ digits, isBlank c = false := by
    intro c hc
    have hdigit := Nat.isDigit_of_mem_toDigits (by decide) (by decide) hc
    exact Naming.isBlank_of_isWordChar (Naming.isWordChar_of_isDigit hdigit)
  rw [trim, hmiddle, trimChars, trimWhere_of_ends (by simp)]
  · rw [← hmiddle, String.ofList_toList]
  · simp
    decide
  · rw [List.getLast_append_of_ne_nil _ hne]
    exact hlast _ (List.getLast_mem hne)

theorem parse?_written {domain kind name : String} {version : Nat} (hdomain : ':' ∉ domain.toList)
    (hkind : ':' ∉ kind.toList) (hname : ':' ∉ name.toList) (hnamed : name ≠ "")
    (hversion : version < 2 ^ 32) :
    parse? (written domain kind name version) = some ⟨domain, kind, name, some version⟩ := by
  have hdigits : ':' ∉ (toString version).toList := by
    rw [Nat.toString_eq_ofList_toDigits, String.toList_ofList]
    intro hcolon
    have hdigit := Nat.isDigit_of_mem_toDigits (by decide) (by decide) hcolon
    exact absurd hdigit (by decide)
  have hends : EndsPart (":" ++ toString version) := .inr ⟨_, rfl⟩
  have hread : (restPieces (":" ++ toString version)).head?.bind decimal32? = some version := by
    rw [restPieces_colon, splitChar_of_notMem hdigits]
    exact decimalBelow?_eq_some_iff.mpr ⟨isDecimal_toString version, hversion⟩
  rw [parse?_eq_some_iff, trim_written]
  refine ⟨_, ⟨rfl, hdomain, hkind, hname, hnamed, hends⟩, fun n => ?_⟩
  rw [← head?_restPieces_bind_iff hends, hread]

end Urn

/-! ### Short names -/

theorem shortName_eq_empty_iff (text : String) :
    shortName text = "" ↔ ∀ c ∈ (trim text).toList, c = ':' ∨ c = '/' := by
  rw [shortName]
  split
  · rename_i u hu
    obtain ⟨rest, hdivided, -⟩ := Urn.parse?_eq_some_iff.mp hu
    refine iff_of_false hdivided.named fun hall => ?_
    -- the word that opens a name is no separator
    have hopening := hall 'u' (by rw [hdivided.text_eq, String.toList_append]; simp)
    exact absurd hopening (by decide)
  · have hall : (∀ piece ∈ splitWhere (fun c => c == ':' || c == '/') (trimChars text.toList),
        piece = []) ↔ ∀ c ∈ (trim text).toList, c = ':' ∨ c = '/' := by
      rw [forall_mem_splitWhere_eq_nil_iff, trim, String.toList_ofList]
      simp
    rw [← hall]
    dsimp only
    split
    · rename_i piece hpiece
      have hmem := List.mem_of_find?_eq_some hpiece
      have hne := List.find?_some hpiece
      refine iff_of_false ?_ fun hempty => ?_
      · simpa using hne
      · rw [hempty piece (List.mem_reverse.mp hmem)] at hne
        cases hne
    · rename_i hnone
      refine iff_of_true rfl fun piece hpiece => ?_
      have hempty := List.find?_eq_none.mp hnone piece (List.mem_reverse.mpr hpiece)
      simpa using hempty

/-- A text is read as a name just if it is divided as one, and then in the parts that it is divided
    into; the version is there just if the next part is a number of 32 bits. So what is written out is
    read back. A short name is missing only where there is nothing but colons and slashes. -/
theorem parse?_divides_and_shortName_eq_empty_iff :
    (∀ text, (∃ u, Urn.parse? text = some u) ↔
      ∃ domain kind name rest, Urn.IsDividedInto (trim text) domain kind name rest) ∧
    (∀ text u, Urn.parse? text = some u ↔
      ∃ rest, Urn.IsDividedInto (trim text) u.domain u.kind u.name rest ∧
        ∀ n, u.version = some n ↔ Urn.IsVersionIn rest n) ∧
    (∀ domain kind name version, ':' ∉ domain.toList → ':' ∉ kind.toList → ':' ∉ name.toList →
      name ≠ "" → version < 2 ^ 32 →
      Urn.parse? (Urn.written domain kind name version) =
        some ⟨domain, kind, name, some version⟩) ∧
    ∀ text, shortName text = "" ↔ ∀ c ∈ (trim text).toList, c = ':' ∨ c = '/' := by
  refine ⟨Urn.exists_parse?_iff, fun text u => Urn.parse?_eq_some_iff, ?written,
    shortName_eq_empty_iff⟩
  case written =>
    intro domain kind name version hdomain hkind hname hnamed hversion
    exact Urn.parse?_written hdomain hkind hname hnamed hversion

/-- A name may lack its domain and consist of a blank, and its version may be the largest of all. -/
theorem parse?_written_blank :
    (':' ∉ "".toList ∧ ':' ∉ "service".toList ∧ ':' ∉ " ".toList ∧ " " ≠ "" ∧
      4294967295 < 2 ^ 32) ∧
    Urn.parse? (Urn.written "" "service" " " 4294967295) =
      some ⟨"", "service", " ", some 4294967295⟩ := by
  have hparts : ':' ∉ "".toList ∧ ':' ∉ "service".toList ∧ ':' ∉ " ".toList ∧ " " ≠ "" ∧
      4294967295 < 2 ^ 32 := by decide
  refine ⟨hparts, ?_⟩
  obtain ⟨hdomain, hkind, hname, hnamed, hversion⟩ := hparts
  exact parse?_divides_and_shortName_eq_empty_iff.2.2.1 _ _ _ _ hdomain hkind hname hnamed hversion

example : Urn.parse? " urn:a:service:Clock:4294967296:x " = some ⟨"a", "service", "Clock", none⟩ := by
  decide

example : Urn.parse? "urn:a:service::+1" = none ∧ shortName "urn:a:service::+1" = "+1" := by
  decide

end ControlPoint.Description
